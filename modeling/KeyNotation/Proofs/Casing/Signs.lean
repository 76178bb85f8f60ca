import Mathlib.Data.List.Basic
import KeyNotation.Casing.Sign

/-!
# The signs of a text

Casing changes the letters of a text, and may change their number. The signs between them stay, as
many as there were and in the same order.

* `signs t` — the signs of `t`, in their order;
* `signs_recase`, `signs_recaseFirst` — a text has the same signs in any case.
-/

namespace KeyNotation

def signs (t : Text) : Text := t.filter isSign

theorem mem_signs_iff {x : Char} (hx : isSign x = true) {t : Text} : x ∈ signs t ↔ x ∈ t := by
  simp [signs, hx]

theorem signs_append (t t' : Text) : signs (t ++ t') = signs t ++ signs t' :=
  List.filter_append t t'

theorem signs_flatMap {f : Text → Text} (h : ∀ t, signs (f t) = signs t) (ts : List Text) :
    signs (ts.flatMap f) = signs ts.flatten := by
  induction ts with
  | nil => rfl
  | cons t ts ih => rw [List.flatMap_cons, signs_append, h, ih, List.flatten_cons, signs_append]

namespace LetterCase

open Casing

theorem signs_ofChar (k : LetterCase) (c : Char) : signs (k.ofChar c) = signs [c] := by
  by_cases hc : isSign c = true
  · rw [ofChar_of_isSign k hc]
  · have hn : ∀ x ∈ k.ofChar c, ¬ isSign x = true := by
      intro x hx hs
      obtain rfl := eq_of_mem_ofChar hs hx
      exact hc hs
    rw [signs, signs, List.filter_eq_nil_iff.2 hn, List.filter_cons_of_neg hc, List.filter_nil]

theorem signs_lowerSigma (before after : Text) : signs [lowerSigma before after] = signs ['Σ'] := by
  unfold lowerSigma
  split <;> decide

theorem signs_lowerAfter (before t : Text) : signs (lowerAfter before t) = signs t := by
  induction t generalizing before with
  | nil => rfl
  | cons c t ih =>
    rw [lowerAfter, signs_append, ih, show c :: t = [c] ++ t from rfl, signs_append]
    congr 1
    split
    · rename_i hc
      rw [signs_lowerSigma, hc]
    · exact signs_ofChar lower c

theorem signs_recase (k : LetterCase) (t : Text) : signs (k.recase t) = signs t := by
  cases k with
  | lower => exact signs_lowerAfter [] t
  | upper =>
    induction t with
    | nil => rfl
    | cons c t ih =>
      rw [show c :: t = [c] ++ t from rfl, signs_append, ← ih, ← signs_ofChar upper c,
        ← signs_append]
      rfl

theorem signs_recaseFirst (k : LetterCase) (t : Text) : signs (k.recaseFirst t) = signs t := by
  cases t with
  | nil => rfl
  | cons c t =>
    rw [recaseFirst, signs_append, signs_ofChar, ← signs_append]
    rfl

end LetterCase

theorem signs_recase (k : Option LetterCase) (t : Text) : signs (recase k t) = signs t := by
  cases k with
  | none => rfl
  | some k => exact k.signs_recase t

theorem signs_recaseFirst (k : Option LetterCase) (t : Text) :
    signs (recaseFirst k t) = signs t := by
  cases k with
  | none => rfl
  | some k => exact k.signs_recaseFirst t

end KeyNotation
