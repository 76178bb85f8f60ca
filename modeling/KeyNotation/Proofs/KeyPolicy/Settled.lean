import KeyNotation.Proofs.Ending
import KeyNotation.Proofs.KeyFormat.Signs

/-!
# Settled keys

A key is settled under a policy if the policy finds nothing to take off. Every other key loses one
of the signs that the policies act on.

* `Bare g key` — no `@` in front and no divider that is on;
* `ObjectSettled g key`, `ArraySettled g key` — what the other policies ask for as well;
* `weight key` — how many signs of `key` a policy could act on;
* `scalarKey_eq_self`, `weight_scalarKey_lt` and so on — a settled key stays, and any other weighs
  less afterwards.
-/

namespace KeyNotation

/-! ## settled keys -/

def Bare (g : Toggles) (key : Text) : Prop := key.head? ≠ some '@' ∧ ∀ d ∈ g.signs, d ∉ key

def ObjectSettled (g : Toggles) (key : Text) : Prop := ':' ∉ key ∧ Bare g key

/-- The hyphens of an array are taken out in any case. -/
def ArraySettled (g : Toggles) (key : Text) : Prop :=
  ':' ∉ key ∧ ¬ listMark <:+ key ∧ Bare { g with hyphen := true } key

theorem withoutAt_of_head {key : Text} (h : key.head? ≠ some '@') : withoutAt key = key := by
  unfold withoutAt
  split
  · exact absurd rfl h
  · rfl

theorem scalarKey_eq_self {g : Toggles} {key : Text} (h : Bare g key) : scalarKey g key = key := by
  have hstem : (plainFormat g).stem key = key := withoutAt_of_head h.1
  have hd : ∀ d ∈ (plainFormat g).dividers.signs, d ∉ (plainFormat g).stem key := by
    rw [hstem]
    exact h.2
  rw [scalarKey, KeyFormat.format_eq_stem rfl hd, hstem]

theorem objectKey_of_not_mem {g : Toggles} {key : Text} (h : ':' ∉ key) :
    objectKey g key = scalarKey g key := by
  rw [objectKey, splitFirst?_eq_none_iff.2 h, scalarKey]

theorem objectKey_of_mem {g : Toggles} {key front back : Text} (hkey : key = front ++ ':' :: back)
    (hfront : ':' ∉ front) : objectKey g key = back := by
  rw [objectKey, splitFirst?_eq_some_iff.2 ⟨hkey, hfront⟩]

theorem objectKey_eq_self {g : Toggles} {key : Text} (h : ObjectSettled g key) :
    objectKey g key = key := by
  rw [objectKey_of_not_mem h.1, scalarKey_eq_self h.2]

/-! ## keys of arrays -/

/-- The key without a list mark at the end. -/
def withoutMark (key : Text) : Text := (listMark.isSuffixOf? key).getD key

theorem withoutMark_append (stem : Text) : withoutMark (stem ++ listMark) = stem := by
  rw [withoutMark, List.isSuffixOf?_eq_some_iff_append_eq.2 rfl, Option.getD_some]

theorem withoutMark_of_not_suffix {key : Text} (h : ¬ listMark <:+ key) :
    withoutMark key = key := by
  rw [withoutMark, isSuffixOf?_eq_none_iff.2 h, Option.getD_none]

theorem withoutMark_eq_iff {segment name : Text} :
    withoutMark segment = name ↔
      segment = name ++ listMark ∨ ¬ listMark <:+ segment ∧ segment = name := by
  by_cases h : listMark <:+ segment
  · obtain ⟨stem, rfl⟩ := h
    simp [withoutMark_append]
  · rw [withoutMark_of_not_suffix h]
    constructor
    · intro he
      exact .inr ⟨h, he⟩
    · rintro (rfl | ⟨-, he⟩)
      · exact absurd (List.suffix_append _ _) h
      · exact he

theorem withoutMark_eq_nil_iff {segment : Text} :
    withoutMark segment = [] ↔ segment = [] ∨ segment = listMark := by
  rw [withoutMark_eq_iff]
  constructor
  · rintro (rfl | ⟨-, rfl⟩)
    · exact .inr rfl
    · exact .inl rfl
  · rintro (rfl | rfl)
    · exact .inr ⟨by decide, rfl⟩
    · exact .inl rfl

theorem pluralOfMark_append (stem : Text) : pluralOfMark (stem ++ listMark) = plural stem := by
  rw [pluralOfMark, List.isSuffixOf?_eq_some_iff_append_eq.2 rfl]

theorem pluralOfMark_of_not_suffix {key : Text} (h : ¬ listMark <:+ key) :
    pluralOfMark key = key := by
  rw [pluralOfMark, isSuffixOf?_eq_none_iff.2 h]

theorem arrayKey_of_not_mem {g : Toggles} {key : Text} (h : ':' ∉ withoutMark key) :
    arrayKey g key = scalarKey { g with hyphen := true } (pluralOfMark key) := by
  rw [arrayKey, ← withoutMark, splitFirst?_eq_none_iff.2 h, scalarKey]

theorem arrayKey_of_mem {g : Toggles} {key front back : Text}
    (hkey : withoutMark key = front ++ ':' :: back) (hfront : ':' ∉ front) :
    arrayKey g key = back := by
  rw [arrayKey, ← withoutMark, splitFirst?_eq_some_iff.2 ⟨hkey, hfront⟩]

theorem arrayKey_eq_self {g : Toggles} {key : Text} (h : ArraySettled g key) :
    arrayKey g key = key := by
  obtain ⟨hcolon, hmark, hbare⟩ := h
  have hstem : ':' ∉ withoutMark key := by rwa [withoutMark_of_not_suffix hmark]
  rw [arrayKey_of_not_mem hstem, pluralOfMark_of_not_suffix hmark, scalarKey_eq_self hbare]

/-! ## weights -/

/-- The signs that a policy can take off. -/
def policySigns : List Char := ['@', ':', '-', '_', '$', '[']

def weight (key : Text) : Nat := key.countP (· ∈ policySigns)

theorem isSign_of_mem_policySigns : ∀ x ∈ policySigns, isSign x = true :=
  List.all_eq_true.1 (by decide)

theorem mem_policySigns_of_toggles {g : Toggles} {x : Char} (h : x ∈ g.signs) :
    x ∈ policySigns := by
  obtain ⟨d, -, rfl⟩ := Toggles.mem_signs_iff.1 h
  cases d <;> decide

theorem weight_append (t t' : Text) : weight (t ++ t') = weight t + weight t' :=
  List.countP_append

theorem weight_cons {x : Char} (hx : x ∈ policySigns) (t : Text) :
    weight (x :: t) = weight t + 1 := by
  rw [weight, List.countP_cons_of_pos (by simpa using hx), weight]

theorem weight_signs (t : Text) : weight (signs t) = weight t := by
  rw [weight, signs, List.countP_filter]
  refine List.countP_congr fun x _ => ?_
  simpa using isSign_of_mem_policySigns x

theorem weight_filter_le (p : Char → Bool) (t : Text) : weight (t.filter p) ≤ weight t :=
  List.filter_sublist.countP_le

theorem weight_filter_lt {p : Char → Bool} {t : Text} {x : Char} (hx : x ∈ policySigns)
    (hxt : x ∈ t) (hp : p x = false) : weight (t.filter p) < weight t := by
  obtain ⟨front, back, rfl⟩ := List.append_of_mem hxt
  have hfront := weight_filter_le p front
  have hback := weight_filter_le p back
  rw [List.filter_append, List.filter_cons_of_neg (by simp [hp]), weight_append, weight_append,
    weight_cons hx]
  omega

theorem weight_withoutAt_le (key : Text) : weight (withoutAt key) ≤ weight key := by
  unfold withoutAt
  split
  · rw [weight_cons (by decide)]
    omega
  · exact le_rfl

/-- A format takes no letters into account, so the weight is that of the signs that stay. -/
theorem weight_scalarKey (g : Toggles) (key : Text) :
    weight (scalarKey g key) = weight ((withoutAt key).filter (· ∉ g.signs)) := by
  rw [scalarKey, ← weight_signs, KeyFormat.signs_format, ← signs_filter, weight_signs]
  rfl

theorem weight_scalarKey_le (g : Toggles) (key : Text) : weight (scalarKey g key) ≤ weight key := by
  rw [weight_scalarKey]
  exact (weight_filter_le _ _).trans (weight_withoutAt_le key)

theorem weight_scalarKey_lt {g : Toggles} {key : Text} (h : ¬ Bare g key) :
    weight (scalarKey g key) < weight key := by
  rw [weight_scalarKey]
  by_cases hat : key.head? = some '@'
  · obtain ⟨t, rfl⟩ := List.head?_eq_some_iff.1 hat
    have hle := weight_filter_le (· ∉ g.signs) t
    rw [weight_cons (by decide)]
    exact Nat.lt_succ_of_le hle
  · obtain ⟨d, hd, hdk⟩ : ∃ d ∈ g.signs, d ∈ key := by
      by_contra hn
      exact h ⟨hat, fun d hd hdk => hn ⟨d, hd, hdk⟩⟩
    rw [withoutAt_of_head hat]
    exact weight_filter_lt (mem_policySigns_of_toggles hd) hdk (by simp [hd])

theorem exists_split_of_mem {t : Text} (h : ':' ∈ t) :
    ∃ front back, t = front ++ ':' :: back ∧ ':' ∉ front ∧ weight back < weight t := by
  cases hs : splitFirst? ':' t with
  | none => exact absurd h (splitFirst?_eq_none_iff.1 hs)
  | some p =>
    obtain ⟨front, back⟩ := p
    obtain ⟨rfl, hfront⟩ := splitFirst?_eq_some_iff.1 hs
    refine ⟨front, back, rfl, hfront, ?_⟩
    rw [weight_append, weight_cons (by decide)]
    omega

theorem weight_objectKey_lt {g : Toggles} {key : Text} (h : ¬ ObjectSettled g key) :
    weight (objectKey g key) < weight key := by
  by_cases hcolon : ':' ∈ key
  · obtain ⟨front, back, hkey, hfront, hlt⟩ := exists_split_of_mem hcolon
    rwa [objectKey_of_mem hkey hfront]
  · rw [objectKey_of_not_mem hcolon]
    exact weight_scalarKey_lt fun hb => h ⟨hcolon, hb⟩

/-- The word for a list has no signs. -/
theorem signs_plural (stem : Text) : signs (plural stem) = signs stem := by
  unfold plural
  split
  · rename_i he
    rw [he]
    rfl
  · rw [signs_append]
    exact List.append_nil _

theorem weight_plural (stem : Text) : weight (plural stem) = weight stem := by
  rw [← weight_signs, signs_plural, weight_signs]

theorem weight_append_listMark (stem : Text) : weight (stem ++ listMark) = weight stem + 1 := by
  rw [weight_append]
  rfl

theorem weight_withoutMark_le (key : Text) : weight (withoutMark key) ≤ weight key := by
  by_cases hmark : listMark <:+ key
  · obtain ⟨stem, rfl⟩ := hmark
    rw [withoutMark_append, weight_append_listMark]
    omega
  · rw [withoutMark_of_not_suffix hmark]

theorem weight_arrayKey_lt {g : Toggles} {key : Text} (h : ¬ ArraySettled g key) :
    weight (arrayKey g key) < weight key := by
  by_cases hcolon : ':' ∈ withoutMark key
  · obtain ⟨front, back, hkey, hfront, hlt⟩ := exists_split_of_mem hcolon
    rw [arrayKey_of_mem hkey hfront]
    exact hlt.trans_le (weight_withoutMark_le key)
  · rw [arrayKey_of_not_mem hcolon]
    by_cases hmark : listMark <:+ key
    · obtain ⟨stem, rfl⟩ := hmark
      have hle := weight_scalarKey_le { g with hyphen := true } (plural stem)
      rw [pluralOfMark_append, weight_append_listMark]
      rw [weight_plural] at hle
      omega
    · rw [withoutMark_of_not_suffix hmark] at hcolon
      rw [pluralOfMark_of_not_suffix hmark]
      exact weight_scalarKey_lt fun hb => h ⟨hcolon, hmark, hb⟩

end KeyNotation
