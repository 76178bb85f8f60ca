import KeyNotation.Proofs.KeyPolicy.Settled

/-!
# Regular keys

The keys that a request is written with are settled once they are formatted, whatever the policy.

* `Regular key` — at most one `@`, in front, at most one `[]`, at the end, and at most one colon,
  with an alias behind it that no policy has to change;
* `bare_of_regular`, `objectSettled_of_regular`, `arraySettled_of_regular` — such a key, formatted.
-/

namespace KeyNotation

structure RegularParts (front body tail : Text) : Prop where
  front_eq : front = [] ∨ front = ['@']
  tail_eq : tail = [] ∨ tail = listMark
  no_at : '@' ∉ body
  no_bracket : '[' ∉ body
  /-- An alias has no second colon and none of the dividers, be they on or off. -/
  alias_plain : ':' ∉ body ∨ ∃ name back, body = name ++ ':' :: back ∧ ':' ∉ name ∧
    ∀ x ∈ [':', '-', '_', '$'], x ∉ back

def Regular (key : Text) : Prop :=
  ∃ front body tail, key = front ++ body ++ tail ∧ RegularParts front body tail

/-! ## keys that are settled for want of signs -/

theorem mem_scalarKey_iff {g : Toggles} {key : Text} {x : Char} (hx : isSign x = true) :
    x ∈ scalarKey g key ↔ x ∈ withoutAt key ∧ x ∉ g.signs :=
  KeyFormat.mem_format_iff hx

theorem bare_of_not_mem {g : Toggles} {key : Text} (hat : '@' ∉ key) (hd : ∀ d ∈ g.signs, d ∉ key) :
    Bare g key :=
  ⟨fun h => hat (List.mem_of_head? h), hd⟩

theorem bare_scalarKey {g : Toggles} {key : Text} (h : '@' ∉ withoutAt key) :
    Bare g (scalarKey g key) := by
  refine bare_of_not_mem ?_ ?_
  · rw [mem_scalarKey_iff (by decide)]
    exact fun hat => h hat.1
  · intro d hd
    rw [mem_scalarKey_iff (isSign_of_mem_policySigns d (mem_policySigns_of_toggles hd))]
    exact fun hdk => hdk.2 hd

theorem bare_of_plain {g : Toggles} {t : Text} (hat : '@' ∉ t) (h : ∀ x ∈ ['-', '_', '$'], x ∉ t) :
    Bare g t := by
  refine bare_of_not_mem hat fun d hd => h d ?_
  obtain ⟨d, -, rfl⟩ := Toggles.mem_signs_iff.1 hd
  cases d <;> decide

theorem withoutAt_append {front rest : Text} (hfront : front = [] ∨ front = ['@'])
    (h : '@' ∉ rest) : withoutAt (front ++ rest) = rest := by
  rcases hfront with rfl | rfl
  · exact withoutAt_of_head fun hhead => h (List.mem_of_head? hhead)
  · rfl

theorem not_mem_listMark : ∀ x ∈ [':', '-', '_', '$'], x ∉ listMark := by
  simp [listMark]

theorem not_suffix_of_not_mem {t : Text} (h : '[' ∉ t) : ¬ listMark <:+ t :=
  fun hs => h (hs.subset (by decide))

/-- What a list mark becomes has no signs. -/
theorem exists_plural (front body : Text) :
    ∃ word, plural (front ++ body) = front ++ (body ++ word) ∧ signs word = [] := by
  unfold plural
  split
  · rename_i he
    obtain ⟨rfl, rfl⟩ := List.append_eq_nil_iff.1 he
    exact ⟨_, rfl, by decide⟩
  · exact ⟨_, List.append_assoc .., by decide⟩

/-! ## the parts of a regular key -/

namespace RegularParts

variable {front body tail : Text}

theorem not_mem_front (h : RegularParts front body tail) {x : Char} (hx : x ≠ '@') :
    x ∉ front := by
  rcases h.front_eq with rfl | rfl <;> simp [hx]

theorem not_mem_tail (h : RegularParts front body tail) {x : Char} (hx : x ∉ listMark) :
    x ∉ tail := by
  rcases h.tail_eq with rfl | rfl
  · exact List.not_mem_nil
  · exact hx

theorem not_marked (h : RegularParts front body tail) : ¬ listMark <:+ front ++ body := by
  refine not_suffix_of_not_mem ?_
  rw [List.mem_append, not_or]
  exact ⟨h.not_mem_front (by decide), h.no_bracket⟩

theorem withoutMark_eq (h : RegularParts front body tail) :
    withoutMark (front ++ body ++ tail) = front ++ body := by
  rcases h.tail_eq with rfl | rfl
  · rw [List.append_nil, withoutMark_of_not_suffix h.not_marked]
  · exact withoutMark_append _

theorem withoutAt_eq (h : RegularParts front body tail) :
    withoutAt (front ++ body ++ tail) = body ++ tail := by
  rw [List.append_assoc]
  refine withoutAt_append h.front_eq ?_
  rw [List.mem_append, not_or]
  exact ⟨h.no_at, h.not_mem_tail (by decide)⟩

theorem exists_pluralOfMark (h : RegularParts front body tail) :
    ∃ word, pluralOfMark (front ++ body ++ tail) = front ++ (body ++ word) ∧
      signs word = [] := by
  rcases h.tail_eq with rfl | rfl
  · rw [List.append_nil, pluralOfMark_of_not_suffix h.not_marked]
    exact ⟨[], by simp, rfl⟩
  · rw [pluralOfMark_append]
    exact exists_plural front body

end RegularParts

/-! ## formatted regular keys -/

theorem bare_of_regular (g : Toggles) {key : Text} (h : Regular key) :
    Bare g (scalarKey g key) := by
  obtain ⟨front, body, tail, rfl, h⟩ := h
  refine bare_scalarKey ?_
  rw [h.withoutAt_eq, List.mem_append, not_or]
  exact ⟨h.no_at, h.not_mem_tail (by decide)⟩

/-- The list mark of an object stays, behind the alias or behind the key. -/
theorem objectSettled_of_regular (g : Toggles) {key : Text} (h : Regular key) :
    ObjectSettled g (objectKey g key) := by
  have hbare := bare_of_regular g h
  obtain ⟨front, body, tail, rfl, h⟩ := h
  have hfront : ':' ∉ front := h.not_mem_front (by decide)
  have htail : ':' ∉ tail := h.not_mem_tail (by decide)
  rcases h.alias_plain with hcolon | ⟨name, back, hbody, hname, hback⟩
  · rw [objectKey_of_not_mem (by simp [hfront, hcolon, htail])]
    refine ⟨?_, hbare⟩
    rw [mem_scalarKey_iff (by decide), h.withoutAt_eq]
    simp [hcolon, htail]
  · have hkey : front ++ body ++ tail = front ++ name ++ ':' :: (back ++ tail) := by
      simp [hbody]
    have hat : '@' ∉ back := fun hmem => h.no_at (by simp [hbody, hmem])
    rw [objectKey_of_mem hkey (by simp [hfront, hname])]
    refine ⟨by simp [hback, htail], bare_of_plain ?_ fun x hx => ?_⟩
    · simp [hat, h.not_mem_tail (x := '@') (by decide)]
    · have hxm : x ∉ listMark := not_mem_listMark x (List.mem_cons_of_mem _ hx)
      simp [hback x (List.mem_cons_of_mem _ hx), h.not_mem_tail hxm]

/-- The list mark of an array is gone before the alias is looked for. -/
theorem arraySettled_of_regular (g : Toggles) {key : Text} (h : Regular key) :
    ArraySettled g (arrayKey g key) := by
  obtain ⟨front, body, tail, rfl, h⟩ := h
  have hfront : ':' ∉ front := h.not_mem_front (by decide)
  rcases h.alias_plain with hcolon | ⟨name, back, hbody, hname, hback⟩
  · obtain ⟨word, hword, hsigns⟩ := h.exists_pluralOfMark
    have hrest {x : Char} (hx : isSign x = true) (hxb : x ∉ body) : x ∉ body ++ word := by
      rw [← mem_signs_iff hx, signs_append, hsigns, List.append_nil, mem_signs_iff hx]
      exact hxb
    have hat : '@' ∉ body ++ word := hrest (by decide) h.no_at
    have hmem {x : Char} (hx : isSign x = true) (hxb : x ∉ body) :
        x ∉ scalarKey { g with hyphen := true } (front ++ (body ++ word)) := by
      rw [mem_scalarKey_iff hx, withoutAt_append h.front_eq hat]
      exact fun hxk => hrest hx hxb hxk.1
    have hstem : ':' ∉ withoutMark (front ++ body ++ tail) := by
      rw [h.withoutMark_eq]
      simp [hfront, hcolon]
    rw [arrayKey_of_not_mem hstem, hword]
    refine ⟨hmem (by decide) hcolon,
      not_suffix_of_not_mem (hmem (by decide) h.no_bracket), bare_scalarKey ?_⟩
    rwa [withoutAt_append h.front_eq hat]
  · have hstem : withoutMark (front ++ body ++ tail) = front ++ name ++ ':' :: back := by
      rw [h.withoutMark_eq, hbody, List.append_assoc]
    have hat : '@' ∉ back := fun hmem => h.no_at (by simp [hbody, hmem])
    have hbracket : '[' ∉ back := fun hmem => h.no_bracket (by simp [hbody, hmem])
    rw [arrayKey_of_mem hstem (by simp [hfront, hname])]
    exact ⟨hback _ (List.mem_cons_self ..), not_suffix_of_not_mem hbracket,
      bare_of_plain hat fun x hx => hback x (List.mem_cons_of_mem _ hx)⟩

end KeyNotation
