import KeyNotation.Proofs.KeyPolicy.Settled

/-!
# Toggles that agree on a key

A toggle acts on a key through its sign alone. No step of a format makes a sign, so two settings of
the toggles format a key alike if each toggle is the same in both or has its sign nowhere in the
key.

* `AgreeOn g g' t` — each toggle is the same in `g` and `g'`, or its sign is not in `t`;
* `AgreeOn.stripDivider`, `AgreeOn.stripDividers_eq` — taking a sign out keeps that, so that both
  settings take the same signs out;
* `scalarKey_eq_scalarKey`, `objectKey_eq_objectKey`, `arrayKey_eq_arrayKey` — the policies under
  two such settings.
-/

namespace KeyNotation

def AgreeOn (g g' : Toggles) (t : Text) : Prop := ∀ d : Divider, g.get d = g'.get d ∨ d.sign ∉ t

variable {g g' : Toggles} {t key : Text}

theorem AgreeOn.symm (h : AgreeOn g g' t) : AgreeOn g' g t := fun d => (h d).imp_left Eq.symm

/-- Only the signs of a text matter. -/
theorem AgreeOn.mono {t' : Text} (h : AgreeOn g g' t)
    (hsub : ∀ d : Divider, d.sign ∈ t' → d.sign ∈ t) : AgreeOn g g' t' :=
  fun d => (h d).imp_right (mt (hsub d))

/-! ## taking the signs out -/

theorem mem_of_mem_stripDivider {x y : Char} (hy : isSign y = true) (h : y ∈ stripDivider t x) :
    y ∈ t := by
  rw [← mem_signs_iff hy, signs_stripDivider] at h
  exact (mem_signs_iff hy).1 (List.mem_of_mem_filter h)

theorem AgreeOn.stripDivider (h : AgreeOn g g' t) (x : Char) : AgreeOn g g' (stripDivider t x) :=
  h.mono fun d => mem_of_mem_stripDivider d.isSign_sign

theorem stripDividers_filter_cons (g : Toggles) (d : Divider) (ds : List Divider) (t : Text) :
    stripDividers (((d :: ds).filter g.get).map Divider.sign) t =
      stripDividers ((ds.filter g.get).map Divider.sign)
        (if g.get d then stripDivider t d.sign else t) := by
  rw [List.filter_cons]
  cases g.get d <;> rfl

/-- The induction is on the dividers that are still to be taken out. The settings agree on what is
left of the text each time. -/
theorem AgreeOn.stripDividers_eq (h : AgreeOn g g' t) (ds : List Divider) :
    stripDividers ((ds.filter g.get).map Divider.sign) t =
      stripDividers ((ds.filter g'.get).map Divider.sign) t := by
  induction ds generalizing t with
  | nil => rfl
  | cons d ds ih =>
    rw [stripDividers_filter_cons, stripDividers_filter_cons]
    rcases h d with heq | hnot
    · rw [heq]
      split
      · exact ih (h.stripDivider d.sign)
      · exact ih h
    · -- the sign is not there, be its toggle on or off
      have hsame : KeyNotation.stripDivider t d.sign = t := if_neg hnot
      rw [hsame, ite_self, ite_self]
      exact ih h

theorem AgreeOn.exists_sign_mem (h : AgreeOn g g' t) (hex : ∃ x ∈ g.signs, x ∈ t) :
    ∃ x ∈ g'.signs, x ∈ t := by
  obtain ⟨x, hx, hxt⟩ := hex
  obtain ⟨d, hd, rfl⟩ := Toggles.mem_signs_iff.1 hx
  have heq : g.get d = g'.get d := (h d).resolve_right (not_not_intro hxt)
  exact ⟨d.sign, Toggles.mem_signs_iff.2 ⟨d, heq ▸ hd, rfl⟩, hxt⟩

/-- Both settings find something to take out, or neither does. -/
theorem AgreeOn.any_mem_eq (h : AgreeOn g g' t) :
    g.signs.any (· ∈ t) = g'.signs.any (· ∈ t) := by
  rw [Bool.eq_iff_iff]
  simp only [List.any_eq_true, decide_eq_true_eq]
  exact ⟨h.exists_sign_mem, h.symm.exists_sign_mem⟩

theorem KeyFormat.format_eq_format {f : KeyFormat} (h : AgreeOn g g' (f.stem key)) :
    KeyFormat.format { f with dividers := g } key =
      KeyFormat.format { f with dividers := g' } key := by
  have hstem (g : Toggles) : KeyFormat.stem { f with dividers := g } key = f.stem key := rfl
  have hname : stripDividers g.signs (f.stem key) = stripDividers g'.signs (f.stem key) :=
    h.stripDividers_eq Divider.all
  simp only [KeyFormat.format, hstem, hname, h.any_mem_eq]

/-! ## the policies -/

theorem mem_of_mem_withoutAt {x : Char} (h : x ∈ withoutAt key) : x ∈ key := by
  unfold withoutAt at h
  split at h
  · exact List.mem_cons_of_mem _ h
  · exact h

theorem scalarKey_eq_scalarKey (h : AgreeOn g g' key) : scalarKey g key = scalarKey g' key :=
  KeyFormat.format_eq_format (f := plainFormat g) (h.mono fun _ => mem_of_mem_withoutAt)

theorem objectKey_eq_objectKey (h : AgreeOn g g' key) : objectKey g key = objectKey g' key := by
  unfold objectKey
  split
  · rfl
  · exact scalarKey_eq_scalarKey h

theorem mem_of_mem_pluralOfMark {x : Char} (hx : isSign x = true) (h : x ∈ pluralOfMark key) :
    x ∈ key := by
  by_cases hmark : listMark <:+ key
  · obtain ⟨stem, rfl⟩ := hmark
    rw [pluralOfMark_append, ← mem_signs_iff hx, signs_plural, mem_signs_iff hx] at h
    exact List.mem_append_left _ h
  · rwa [pluralOfMark_of_not_suffix hmark] at h

/-- An array loses its hyphens in any case, so that their toggle does not matter. -/
theorem arrayKey_eq_arrayKey (h : AgreeOn { g with hyphen := true } { g' with hyphen := true } key) :
    arrayKey g key = arrayKey g' key := by
  unfold arrayKey
  split
  · rfl
  · exact scalarKey_eq_scalarKey (h.mono fun d => mem_of_mem_pluralOfMark d.isSign_sign)

end KeyNotation
